import SinoChat.Messages.Effects

/-!
# The sends of a run

What a step of a send does to the table of the sends and to the messages
(`SendMove`, `SendStep.tables`), and what follows over a run: the labels of a
send tell its phase (`SendLog`), and an open transaction has rows of its own
key and its own id that no message has (`Drafts`).
-/

namespace SinoChat

open Js

namespace Messaging

open MessageTables

variable {decoders : Decoders} {presignDownload : JsString → ℕ → ℕ → JsString}
variable {w w' : MessagingWorld} {action : MessagingAction} {db db' : MessageTables}
variable {trace : List MessagingAction} {a : SendAttempt} {event : SendEvent} {n : ℕ}

/-! ## Keys -/

/-- What makes two sends the same. -/
def SendRequest.key (request : SendRequest) : Uuid × Uuid :=
  (request.input.senderDeviceId, request.input.clientMessageId)

/-- The unique index of the messages. -/
def Message.key (message : Message) : Uuid × Uuid :=
  (message.senderDeviceId, message.clientMessageId)

/-- A message as a request asks for. -/
structure Message.Matches (message : Message) (request : SendRequest) : Prop where
  key : message.key = request.key
  conversationId : message.conversationId = request.conversationId
  senderUserId : message.senderUserId = request.userId
  kind : message.kind = request.input.kind

/-- No message is found if none has the key. -/
theorem findMessage_eq_none {request : SendRequest} :
    db.findMessage request.input.senderDeviceId request.input.clientMessageId = none ↔
      ∀ m ∈ db.messages, m.key ≠ request.key := by
  unfold findMessage
  rw [List.find?_eq_none]
  refine forall₂_congr fun m _ => ?_
  unfold Message.key SendRequest.key
  simp

/-- A message that is found has the key. -/
theorem of_findMessage {request : SendRequest} {m : Message}
    (h : db.findMessage request.input.senderDeviceId request.input.clientMessageId = some m) :
    m ∈ db.messages ∧ m.key = request.key := by
  refine ⟨List.mem_of_find?_eq_some h, ?_⟩
  have hkey := List.find?_some h
  unfold Message.key SendRequest.key
  simpa using hkey

/-! ## The table of the sends -/

theorem find?_sendMoves {phase : SendPhase} {m : ℕ} : (w.sendMoves n phase).sends.find? m =
    if m = n then (w.sends.find? n).map fun a => { a with phase } else w.sends.find? m := by
  unfold MessagingWorld.sendMoves
  rw [Table.find?_update]

theorem find?_sendEnds {m : ℕ} :
    (w.sendEnds n).sends.find? m = if m = n then none else w.sends.find? m :=
  Table.find?_remove

/-- A send after a move is the one that moved, or one from before. -/
theorem of_find?_sendMoves {phase : SendPhase} {m : ℕ} {b : SendAttempt}
    (h : (w.sendMoves n phase).sends.find? m = some b) :
    (m = n ∧ ∃ a, w.sends.find? n = some a ∧ b = { a with phase }) ∨
      m ≠ n ∧ w.sends.find? m = some b := by
  rw [find?_sendMoves] at h
  split at h
  · rename_i hm
    obtain ⟨a, ha, rfl⟩ := Option.map_eq_some_iff.mp h
    exact .inl ⟨hm, a, ha, rfl⟩
  · rename_i hm
    exact .inr ⟨hm, h⟩

theorem of_find?_sendEnds {m : ℕ} {b : SendAttempt} (h : (w.sendEnds n).sends.find? m = some b) :
    m ≠ n ∧ w.sends.find? m = some b := by
  rw [find?_sendEnds] at h
  split at h
  · cases h
  · rename_i hm
    exact ⟨hm, h⟩

/-- An attempt is found under its number. -/
theorem number_of_find? (h : w.sends.find? n = some a) : a.number = n :=
  (Table.find?_eq_some.mp h).2

/-- A transaction under way is an attempt that has inserted. -/
theorem mem_transactions {t : LockedConversation × MessageWrites} :
    t ∈ w.transactions ↔ ∃ n a, w.sends.find? n = some a ∧ a.phase = .inserted t.1 t.2 := by
  unfold MessagingWorld.transactions
  rw [List.mem_filterMap]
  constructor
  · rintro ⟨a, ha, ht⟩
    refine ⟨a.number, a, Table.find?_eq_some.mpr ⟨ha, rfl⟩, ?_⟩
    unfold MessagingWorld.open? at ht
    split at ht
    · rename_i hphase
      cases ht
      exact hphase
    · cases ht
  · rintro ⟨n, a, ha, hphase⟩
    refine ⟨a, (Table.find?_eq_some.mp ha).1, ?_⟩
    unfold MessagingWorld.open?
    rw [hphase]

/-! ## The steps of a send -/

/-- The table of the sends after a step of one, and what the label tells. -/
inductive SendMove (w : MessagingWorld) (a : SendAttempt) :
    SendEvent → MessagingWorld → Prop
  | moves {event : SendEvent} {phase : SendPhase} {w' : MessagingWorld} :
      w'.sends = (w.sendMoves a.number phase).sends → (∀ m, a.phase ≠ .committed m) →
      (∀ answer, event ≠ .answered answer) → (event = .committed ↔ ∃ m, phase = .committed m) →
      SendMove w a event w'
  | ends {event : SendEvent} {w' : MessagingWorld} :
      w'.sends = (w.sendEnds a.number).sends → event ≠ .committed →
      (∀ ack, event = .answered (.ok ack) → (ack.created = true ↔ ∃ m, a.phase = .committed m)) →
      (∀ e, event = .answered (.error e) → ∀ m, a.phase ≠ .committed m) →
      SendMove w a event w'

/-- An acknowledgement is of a message that matches. -/
theorem acknowledge_eq_ok {accounts : Accounts} {request : SendRequest} {now : ℕ}
    {ack : MessageAcknowledgement}
    (h : db.acknowledgeExistingMessage accounts request now = .ok ack) :
    ∃ m ∈ db.messages, m.Matches request ∧ ack = messageAcknowledgement m false := by
  obtain ⟨_, -, h⟩ := bind_eq_ok.mp h
  obtain ⟨m, hfind, h⟩ := bind_eq_ok.mp h
  obtain ⟨_, hmatch, h⟩ := bind_eq_ok.mp h
  obtain ⟨_, -, h⟩ := bind_eq_ok.mp h
  cases h
  obtain ⟨hm, hkey⟩ := of_findMessage (orThrow_eq_ok.mp hfind)
  have hmatch' := require_eq_ok.mp hmatch
  simp only [Bool.and_eq_true, decide_eq_true_eq] at hmatch'
  exact ⟨m, hm, ⟨hkey, hmatch'.1.2, hmatch'.1.1, hmatch'.2⟩, rfl⟩

/-- **What a step does.** -/
theorem SendStep.move (h : SendStep decoders w a event w') : SendMove w a event w' := by
  cases h with
  | lookup hphase =>
    refine .moves rfl (by simp [hphase]) (by simp) ?_
    split
    · simp
    · simp
  | @prepare now grant hphase hnow hprepare =>
    refine .moves rfl (by simp [hphase]) (by simp) ?_
    cases grant <;> simp
  | refusePreparation hphase hnow hprepare =>
    exact .ends rfl (by simp) (by simp) (by simp [hphase])
  | findObject hphase hobject => exact .moves rfl (by simp [hphase]) (by simp) (by simp)
  | refuseObject hphase => exact .ends rfl (by simp) (by simp) (by simp [hphase])
  | insert hphase => exact .moves rfl (by simp [hphase]) (by simp) (by simp)
  | refuseInsertion hphase => exact .ends rfl (by simp) (by simp) (by simp [hphase])
  | violate hphase => exact .moves rfl (by simp [hphase]) (by simp) (by simp)
  | commit hphase => exact .moves rfl (by simp [hphase]) (by simp) (by simp)
  | rollback hphase => exact .ends rfl (by simp) (by simp) (by simp [hphase])
  | answer hphase =>
    refine .ends rfl (by simp) (fun ack hack => ?_) (by simp)
    cases hack
    simp [hphase, messageAcknowledgement]
  | findDuplicate hphase => exact .moves rfl (by simp [hphase]) (by simp) (by simp)
  | missDuplicate hphase => exact .ends rfl (by simp) (by simp) (by simp [hphase])
  | acknowledge hphase hnow hlock hfree hack =>
    refine .ends rfl (by simp) (fun ack' hack' => ?_) (by simp)
    cases hack'
    obtain ⟨m, -, -, rfl⟩ := acknowledge_eq_ok hack
    simp [hphase, messageAcknowledgement]
  | refuseAcknowledgement hphase => exact .ends rfl (by simp) (by simp) (by simp [hphase])
  | crash => exact .ends rfl (by simp) (by simp) (by simp)

/-- A step of a send changes the tables only by its commit. -/
theorem SendStep.tables (h : SendStep decoders w a event w') :
    w'.started = w.started ∧ w'.clock = w.clock ∧
      (w'.db = w.db ∨ event = .committed ∧ ∃ locked writes messages,
        a.phase = .inserted locked writes ∧ w.db.messages.store writes = .ok messages ∧
          w'.db = { w.db with messages }) := by
  cases h with
  | commit hphase hnow hlock hstore =>
    exact ⟨rfl, rfl, .inr ⟨rfl, _, _, _, hphase, hstore, rfl⟩⟩
  | _ => exact ⟨rfl, rfl, .inl rfl⟩

/-! ## Labels and phases -/

/-- **What the labels of a run tell** of its sends. -/
structure SendLog (trace : List MessagingAction) (w : MessagingWorld) : Prop where
  sent : ∀ n a, w.sends.find? n = some a → .sendStarted n a.request ∈ trace
  started : ∀ n request, .sendStarted n request ∈ trace → n < w.started
  one : ∀ n request request', .sendStarted n request ∈ trace → .sendStarted n request' ∈ trace →
    request = request'
  known : ∀ n event, .send n event ∈ trace → ∃ request, .sendStarted n request ∈ trace
  ended : ∀ n answer, .send n (.answered answer) ∈ trace → w.sends.find? n = none
  committed : ∀ n a, w.sends.find? n = some a →
    (.send n .committed ∈ trace ↔ ∃ m, a.phase = .committed m)
  failed : ∀ n e, .send n .committed ∈ trace → .send n (.answered (.error e)) ∉ trace
  created : ∀ n ack, .send n (.answered (.ok ack)) ∈ trace →
    (ack.created = true ↔ .send n .committed ∈ trace)

/-- A label that is not a send's tells nothing. -/
theorem SendLog.aside (h : SendLog trace w) (haction : Aside action) (hsends : w'.sends = w.sends)
    (hstarted : w.started ≤ w'.started) : SendLog (action :: trace) w' := by
  have hstart : ∀ {n request}, .sendStarted n request ∈ action :: trace →
      .sendStarted n request ∈ trace := by
    intro n request hmem
    rcases List.mem_cons.mp hmem with rfl | hmem
    · cases haction
    · exact hmem
  have hsend : ∀ {n event}, .send n event ∈ action :: trace → .send n event ∈ trace := by
    intro n event hmem
    rcases List.mem_cons.mp hmem with rfl | hmem
    · cases haction
    · exact hmem
  refine ⟨fun n a ha => ?_, fun n r hr => ?_, fun n r r' hr hr' => ?_, fun n e he => ?_,
    fun n ans hans => ?_, fun n a ha => ?_, fun n e hc he => ?_, fun n ack hack => ?_⟩
  · exact List.mem_cons_of_mem _ (h.sent n a (hsends ▸ ha))
  · exact (h.started n r (hstart hr)).trans_le hstarted
  · exact h.one n r r' (hstart hr) (hstart hr')
  · obtain ⟨r, hr⟩ := h.known n e (hsend he)
    exact ⟨r, List.mem_cons_of_mem _ hr⟩
  · rw [hsends]
    exact h.ended n ans (hsend hans)
  · rw [← h.committed n a (hsends ▸ ha)]
    exact ⟨hsend, List.mem_cons_of_mem _⟩
  · exact h.failed n e (hsend hc) (hsend he)
  · rw [h.created n ack (hsend hack)]
    exact ⟨List.mem_cons_of_mem _, hsend⟩

/-- A new send has a number of its own. -/
theorem SendLog.start (h : SendLog trace w) {request : SendRequest}
    (hfree : w.sends.find? w.started = none)
    (hsends : w'.sends = w.sends.insert ⟨w.started, request, .started⟩ hfree)
    (hstarted : w'.started = w.started + 1) :
    SendLog (.sendStarted w.started request :: trace) w' := by
  have hsend : ∀ {n event}, .send n event ∈ .sendStarted w.started request :: trace →
      .send n event ∈ trace := by
    intro n event hmem
    rcases List.mem_cons.mp hmem with heq | hmem
    · cases heq
    · exact hmem
  have hstart : ∀ {n r}, .sendStarted n r ∈ .sendStarted w.started request :: trace →
      n = w.started ∧ r = request ∨ .sendStarted n r ∈ trace := by
    intro n r hmem
    rcases List.mem_cons.mp hmem with heq | hmem
    · cases heq
      exact .inl ⟨rfl, rfl⟩
    · exact .inr hmem
  -- The attempt that is new is the one that starts.
  have hfind : ∀ {n a}, w'.sends.find? n = some a →
      n = w.started ∧ a = ⟨w.started, request, .started⟩ ∨ w.sends.find? n = some a := by
    intro n a ha
    rw [hsends, Table.find?_insert] at ha
    split at ha
    · rename_i hn
      cases ha
      exact .inl ⟨hn.symm, rfl⟩
    · exact .inr ha
  -- No label has the new number yet.
  have hnone : ∀ {event}, .send w.started event ∉ trace := by
    intro event hmem
    obtain ⟨r, hr⟩ := h.known _ _ hmem
    exact absurd (h.started _ r hr) (lt_irrefl _)
  refine ⟨fun n a ha => ?_, fun n r hr => ?_, fun n r r' hr hr' => ?_, fun n e he => ?_,
    fun n ans hans => ?_, fun n a ha => ?_, fun n e hc he => ?_, fun n ack hack => ?_⟩
  · rcases hfind ha with ⟨rfl, rfl⟩ | ha
    · exact List.mem_cons_self
    · exact List.mem_cons_of_mem _ (h.sent n a ha)
  · rw [hstarted]
    rcases hstart hr with ⟨rfl, -⟩ | hr
    · exact Nat.lt_succ_self _
    · exact (h.started n r hr).trans (Nat.lt_succ_self _)
  · rcases hstart hr with ⟨rfl, rfl⟩ | hr
    · rcases hstart hr' with ⟨-, rfl⟩ | hr'
      · rfl
      · exact absurd (h.started _ r' hr') (lt_irrefl _)
    · rcases hstart hr' with ⟨rfl, -⟩ | hr'
      · exact absurd (h.started _ r hr) (lt_irrefl _)
      · exact h.one n r r' hr hr'
  · obtain ⟨r, hr⟩ := h.known n e (hsend he)
    exact ⟨r, List.mem_cons_of_mem _ hr⟩
  · have hans' := hsend hans
    rw [hsends, Table.find?_insert]
    split
    · rename_i hn
      dsimp only at hn
      subst hn
      exact absurd hans' hnone
    · exact h.ended n ans hans'
  · rcases hfind ha with ⟨rfl, rfl⟩ | ha
    · refine ⟨fun hc => absurd (hsend hc) hnone, ?_⟩
      rintro ⟨m, hm⟩
      cases hm
    · rw [← h.committed n a ha]
      exact ⟨hsend, List.mem_cons_of_mem _⟩
  · exact h.failed n e (hsend hc) (hsend he)
  · rw [h.created n ack (hsend hack)]
    exact ⟨List.mem_cons_of_mem _, hsend⟩

/-- A label of a send in a longer trace. -/
theorem mem_cons_send {m : ℕ} {e : SendEvent} (h : .send m e ∈ .send n event :: trace) :
    m = n ∧ e = event ∨ .send m e ∈ trace := by
  rcases List.mem_cons.mp h with heq | hmem
  · cases heq
    exact .inl ⟨rfl, rfl⟩
  · exact .inr hmem

/-- What begins a send is no step of one. -/
theorem mem_cons_sendStarted {m : ℕ} {r : SendRequest}
    (h : .sendStarted m r ∈ .send n event :: trace) : .sendStarted m r ∈ trace := by
  rcases List.mem_cons.mp h with heq | hmem
  · cases heq
  · exact hmem

/-- An attempt behind a step is the one that moved, or another one as it was. -/
theorem SendMove.of_find? (hmove : SendMove w a event w') (ha : w.sends.find? n = some a) {m : ℕ}
    {b : SendAttempt} (hb : w'.sends.find? m = some b) :
    (m = n ∧ b.request = a.request) ∨ m ≠ n ∧ w.sends.find? m = some b := by
  have hn : a.number = n := number_of_find? ha
  cases hmove with
  | moves hsends =>
    rw [hsends, hn] at hb
    rcases of_find?_sendMoves hb with ⟨hm, a', ha', rfl⟩ | hb
    · rw [ha] at ha'
      cases ha'
      exact .inl ⟨hm, rfl⟩
    · exact .inr hb
  | ends hsends =>
    rw [hsends, hn] at hb
    exact .inr (of_find?_sendEnds hb)

/-- An attempt that was answered is gone. -/
theorem SendLog.ended_send (h : SendLog trace w) (ha : w.sends.find? n = some a)
    (hmove : SendMove w a event w') {m : ℕ}
    {answer : Except HttpException MessageAcknowledgement}
    (hanswer : .send m (.answered answer) ∈ .send n event :: trace) : w'.sends.find? m = none := by
  have hn : a.number = n := number_of_find? ha
  cases hmove with
  | moves hsends hphase hunanswered =>
    rcases mem_cons_send hanswer with ⟨-, rfl⟩ | hbefore
    · exact absurd rfl (hunanswered answer)
    · have hm : m ≠ n := by
        rintro rfl
        rw [h.ended m answer hbefore] at ha
        cases ha
      rw [hsends, hn, find?_sendMoves, if_neg hm]
      exact h.ended m answer hbefore
  | ends hsends =>
    rw [hsends, hn, find?_sendEnds]
    split
    · rfl
    · rename_i hm
      rcases mem_cons_send hanswer with ⟨rfl, -⟩ | hbefore
      · exact absurd rfl hm
      · exact h.ended m answer hbefore

/-- An attempt is committed when its step says so. -/
theorem SendLog.committed_send (h : SendLog trace w) (ha : w.sends.find? n = some a)
    (hmove : SendMove w a event w') {m : ℕ} {b : SendAttempt} (hb : w'.sends.find? m = some b) :
    .send m .committed ∈ .send n event :: trace ↔ ∃ message, b.phase = .committed message := by
  have hn : a.number = n := number_of_find? ha
  by_cases hm : m = n
  · subst hm
    cases hmove with
    | @moves _ phase hsends hphase hanswer hcommitted =>
      rw [hsends, hn] at hb
      rcases of_find?_sendMoves hb with ⟨-, a', ha', rfl⟩ | ⟨hne, -⟩
      · refine Iff.trans ⟨fun hc => ?_, fun hc => ?_⟩ hcommitted
        · rcases mem_cons_send hc with ⟨-, hc⟩ | hc
          · exact hc.symm
          · obtain ⟨message, hmessage⟩ := (h.committed m a ha).mp hc
            exact absurd hmessage (hphase message)
        · rw [hc]
          exact List.mem_cons_self
      · exact absurd rfl hne
    | ends hsends =>
      rw [hsends, hn] at hb
      exact absurd rfl (of_find?_sendEnds hb).1
  · rcases hmove.of_find? ha hb with ⟨hmn, -⟩ | ⟨-, hb⟩
    · exact absurd hmn hm
    · rw [← h.committed m b hb]
      refine ⟨fun hc => ?_, List.mem_cons_of_mem _⟩
      rcases mem_cons_send hc with ⟨hmn, -⟩ | hc
      · exact absurd hmn hm
      · exact hc

/-- A committed attempt is answered with no error. -/
theorem SendLog.failed_send (h : SendLog trace w) (ha : w.sends.find? n = some a)
    (hmove : SendMove w a event w') {m : ℕ} {e : HttpException}
    (hc : .send m .committed ∈ .send n event :: trace) :
    .send m (.answered (.error e)) ∉ .send n event :: trace := by
  intro he
  rcases mem_cons_send hc with ⟨rfl, rfl⟩ | hcommitted
  · rcases mem_cons_send he with ⟨-, herror⟩ | herror
    · cases herror
    · rw [h.ended m _ herror] at ha
      cases ha
  · rcases mem_cons_send he with ⟨rfl, rfl⟩ | herror
    · obtain ⟨message, hmessage⟩ := (h.committed m a ha).mp hcommitted
      cases hmove with
      | moves _ hphase => exact hphase message hmessage
      | ends _ _ _ herror => exact herror e rfl message hmessage
    · exact h.failed m e hcommitted herror

/-- An answer says that the message is new if it was committed. -/
theorem SendLog.created_send (h : SendLog trace w) (ha : w.sends.find? n = some a)
    (hmove : SendMove w a event w') {m : ℕ} {ack : MessageAcknowledgement}
    (hack : .send m (.answered (.ok ack)) ∈ .send n event :: trace) :
    ack.created = true ↔ .send m .committed ∈ .send n event :: trace := by
  rcases mem_cons_send hack with ⟨rfl, rfl⟩ | hbefore
  · cases hmove with
    | moves _ _ hanswer => exact absurd rfl (hanswer _)
    | ends _ hevent hcreated =>
      rw [hcreated ack rfl, ← h.committed m a ha]
      refine ⟨List.mem_cons_of_mem _, fun hc => ?_⟩
      rcases mem_cons_send hc with ⟨-, hc⟩ | hc
      · cases hc
      · exact hc
  · rw [h.created m ack hbefore]
    refine ⟨List.mem_cons_of_mem _, fun hc => ?_⟩
    rcases mem_cons_send hc with ⟨rfl, -⟩ | hc
    · rw [h.ended m _ hbefore] at ha
      cases ha
    · exact hc

/-- A step of a send adds its label. -/
theorem SendLog.send (h : SendLog trace w) (ha : w.sends.find? n = some a)
    (hmove : SendMove w a event w') (hstarted : w'.started = w.started) :
    SendLog (.send n event :: trace) w' where
  sent m b hb := by
    rcases hmove.of_find? ha hb with ⟨rfl, hrequest⟩ | ⟨-, hb⟩
    · rw [hrequest]
      exact List.mem_cons_of_mem _ (h.sent m a ha)
    · exact List.mem_cons_of_mem _ (h.sent m b hb)
  started m r hr := hstarted ▸ h.started m r (mem_cons_sendStarted hr)
  one m r r' hr hr' := h.one m r r' (mem_cons_sendStarted hr) (mem_cons_sendStarted hr')
  known m e he := by
    rcases mem_cons_send he with ⟨rfl, -⟩ | he
    · exact ⟨a.request, List.mem_cons_of_mem _ (h.sent m a ha)⟩
    · obtain ⟨r, hr⟩ := h.known m e he
      exact ⟨r, List.mem_cons_of_mem _ hr⟩
  ended m answer hanswer := h.ended_send ha hmove hanswer
  committed m b hb := h.committed_send ha hmove hb
  failed m e hc := h.failed_send ha hmove hc
  created m ack hack := h.created_send ha hmove hack

/-- **The labels tell the phases**, in every run. -/
theorem sendLog_of_run (h : (messaging decoders presignDownload).Run trace w) :
    SendLog trace w := by
  refine h.invariant (I := SendLog) (fun w hw => ?_) fun trace w action w' hrun hlog hstep => ?_
  · refine ⟨fun n a ha => ?_, fun _ _ h => ?_, fun _ _ _ h => ?_, fun _ _ h => ?_, fun _ _ h => ?_,
      fun n a ha => ?_, fun _ _ h => ?_, fun _ _ h => ?_⟩
    · rw [hw.sends] at ha
      cases ha
    · cases h
    · cases h
    · cases h
    · cases h
    · rw [hw.sends] at ha
      cases ha
    · cases h
    · cases h
  · cases effect_of_step (purgesRead_of_run hrun) hstep with
    | aside haction hsends hstarted => exact hlog.aside haction hsends hstarted
    | start hfree hsends hstarted => exact hlog.start hfree hsends hstarted
    | send hfind hstep => exact hlog.send hfind hstep.move hstep.tables.1

end Messaging

end SinoChat
