import SinoChat.Messages.Drafts

/-!
# Sends of one key

Sends with the same device and client id: as long as the message of the key is
not removed for its age, one of them stores it and every other one that
succeeds acknowledges it. A send that fails leaves no trace in the tables.
-/

namespace SinoChat

open Js

namespace Messaging

open MessageTables

variable {decoders : Decoders} {presignDownload : JsString → ℕ → ℕ → JsString}
variable {w w' : MessagingWorld} {action : MessagingAction}
variable {trace : List MessagingAction} {a : SendAttempt} {event : SendEvent} {n : ℕ}
variable {key : Uuid × Uuid}

/-- The message of a key is not removed: nothing is, when it has expired. -/
def Retained (key : Uuid × Uuid) (w : MessagingWorld) (action : MessagingAction) : Prop :=
  Removes action → ∀ m ∈ w.db.messages.messages, m.key = key → w.clock < m.expiresAt

/-- **What the labels tell of the messages** of a key. -/
structure KeyLog (key : Uuid × Uuid) (trace : List MessagingAction) (w : MessagingWorld) :
    Prop where
  stored : ∀ n request, .sendStarted n request ∈ trace → request.key = key →
    .send n .committed ∈ trace → ∃ m ∈ w.db.messages.messages, m.key = key
  once : ∀ n n' request request', .sendStarted n request ∈ trace →
    .sendStarted n' request' ∈ trace → request.key = key → request'.key = key →
    .send n .committed ∈ trace → .send n' .committed ∈ trace → n = n'
  phase : ∀ n a m, w.sends.find? n = some a → a.request.key = key → a.phase = .committed m →
    m ∈ w.db.messages.messages ∧ m.key = key
  acknowledged : ∀ n request ack, .sendStarted n request ∈ trace → request.key = key →
    .send n (.answered (.ok ack)) ∈ trace → ∃ m ∈ w.db.messages.messages,
      m.Matches request ∧ ack = messageAcknowledgement m ack.created

/-- The messages of the key stay, and who succeeds acknowledges one of them. -/
theorem KeyLog.keep (h : KeyLog key trace w)
    (hkept : ∀ m ∈ w.db.messages.messages, m.key = key → m ∈ w'.db.messages.messages)
    (hstart : ∀ n request event, .sendStarted n request ∈ action :: trace →
      .send n event ∈ action :: trace → .sendStarted n request ∈ trace)
    (hcommit : ∀ n, action ≠ .send n .committed)
    (hanswer : ∀ n ack request, action = .send n (.answered (.ok ack)) →
      .sendStarted n request ∈ trace → request.key = key → ∃ m ∈ w.db.messages.messages,
        m.Matches request ∧ ack = messageAcknowledgement m ack.created)
    (hphase : ∀ n a m, w'.sends.find? n = some a → a.phase = .committed m →
      w.sends.find? n = some a) : KeyLog key (action :: trace) w' := by
  have hcommitted : ∀ {n}, .send n .committed ∈ action :: trace → .send n .committed ∈ trace := by
    intro n hmem
    rcases List.mem_cons.mp hmem with heq | hmem
    · exact absurd heq.symm (hcommit n)
    · exact hmem
  refine ⟨fun n r hr hkey hc => ?_, fun n n' r r' hr hr' hkey hkey' hc hc' => ?_,
    fun n a m ha hkey hm => ?_, fun n r ack hr hkey hack => ?_⟩
  · obtain ⟨m, hm, hmkey⟩ := h.stored n r (hstart n r _ hr hc) hkey (hcommitted hc)
    exact ⟨m, hkept m hm hmkey, hmkey⟩
  · exact h.once n n' r r' (hstart n r _ hr hc) (hstart n' r' _ hr' hc') hkey hkey'
      (hcommitted hc) (hcommitted hc')
  · obtain ⟨hmem, hmkey⟩ := h.phase n a m (hphase n a m ha hm) hkey hm
    exact ⟨hkept m hmem hmkey, hmkey⟩
  · have hr' := hstart n r _ hr hack
    have hfound : ∃ m ∈ w.db.messages.messages,
        m.Matches r ∧ ack = messageAcknowledgement m ack.created := by
      rcases List.mem_cons.mp hack with heq | hmem
      · exact hanswer n ack r heq.symm hr' hkey
      · exact h.acknowledged n r ack hr' hkey hmem
    obtain ⟨m, hm, hmatches, heq⟩ := hfound
    exact ⟨m, hkept m hm (hmatches.key.trans hkey), hmatches, heq⟩

/-- Only a commit leads to the phase behind it. -/
theorem SendMove.phase_committed (h : SendMove w a event w') (hevent : event ≠ .committed) {m : ℕ}
    {b : SendAttempt} {message : Message} (hb : w'.sends.find? m = some b)
    (hphase : b.phase = .committed message) : w.sends.find? m = some b := by
  cases h with
  | moves hsends _ _ hcommitted =>
    rw [hsends] at hb
    rcases of_find?_sendMoves hb with ⟨-, a', -, rfl⟩ | ⟨-, hb⟩
    · exact absurd (hcommitted.mpr ⟨message, hphase⟩) hevent
    · exact hb
  | ends hsends =>
    rw [hsends] at hb
    exact (of_find?_sendEnds hb).2

/-- Who succeeds acknowledges a message of the table, or the one it committed. -/
theorem SendStep.answered (hdrafts : Drafts decoders w) (ha : w.sends.find? n = some a)
    (hphase : ∀ m, a.phase = .committed m → m ∈ w.db.messages.messages)
    {ack : MessageAcknowledgement} (h : SendStep decoders w a (.answered (.ok ack)) w') :
    ∃ m ∈ w.db.messages.messages,
      m.Matches a.request ∧ ack = messageAcknowledgement m ack.created := by
  cases h with
  | answer hcommitted =>
    exact ⟨_, hphase _ hcommitted, hdrafts.committed n a _ ha hcommitted, rfl⟩
  | acknowledge hack hnow hlock hfree hok =>
    obtain ⟨m, hm, hmatches, rfl⟩ := acknowledge_eq_ok hok
    exact ⟨m, hm, hmatches, rfl⟩

/-- A send of the key commits: there was no message of the key. -/
theorem KeyLog.commit (h : KeyLog key trace w) (hlog : SendLog trace w)
    (hdrafts : Drafts decoders w) {locked : LockedConversation} {writes : MessageWrites}
    {messages : MessageTables} (hopen : Opens w n a locked writes)
    (hstore : w.db.messages.store writes = .ok messages)
    (hdb : w'.db = { w.db with messages })
    (hsends : w'.sends = (w.sendMoves n (.committed writes.message)).sends) :
    KeyLog key (.send n .committed :: trace) w' := by
  have hstores := stores_of_store hstore
  have hkey : writes.message.key = a.request.key :=
    (hdrafts.draft n a locked writes hopen).matches.key
  have hmem : ∀ m, m ∈ w'.db.messages.messages ↔
      m ∈ w.db.messages.messages ∨ m = writes.message := by
    intro m
    rw [hdb]
    exact hstores.messages m
  have hstart : ∀ {m r}, .sendStarted m r ∈ MessagingAction.send n .committed :: trace →
      .sendStarted m r ∈ trace := by
    intro m r hr
    rcases List.mem_cons.mp hr with heq | hr
    · cases heq
    · exact hr
  have hcommitted : ∀ {m}, .send m .committed ∈ MessagingAction.send n .committed :: trace →
      m = n ∨ .send m .committed ∈ trace := by
    intro m hm
    rcases List.mem_cons.mp hm with heq | hm
    · cases heq
      exact .inl rfl
    · exact .inr hm
  -- the key of a send of this number
  have hown : ∀ {r}, .sendStarted n r ∈ trace → r = a.request := fun hr =>
    hlog.one n _ _ hr (hlog.sent n a hopen.find)
  have hfirst : a.request.key = key → ∀ {m r}, .sendStarted m r ∈ trace → r.key = key →
      .send m .committed ∉ trace := by
    intro hakey m r hr hrkey hc
    obtain ⟨msg, hmsg, hmsgkey⟩ := h.stored m r hr hrkey hc
    exact hdrafts.absent n a locked writes hopen msg hmsg (hmsgkey.trans hakey.symm)
  refine ⟨fun m r hr hrkey hc => ?_, fun m m' r r' hr hr' hrkey hrkey' hc hc' => ?_,
    fun m b msg hb hbkey hphase => ?_, fun m r ack hr hrkey hack => ?_⟩
  · rcases hcommitted hc with rfl | hbefore
    · refine ⟨writes.message, (hmem _).mpr (.inr rfl), ?_⟩
      rw [hkey, ← hown (hstart hr)]
      exact hrkey
    · obtain ⟨msg, hmsg, hmsgkey⟩ := h.stored m r (hstart hr) hrkey hbefore
      exact ⟨msg, (hmem msg).mpr (.inl hmsg), hmsgkey⟩
  · rcases hcommitted hc with hm | hbefore
    · subst hm
      rcases hcommitted hc' with hm' | hbefore'
      · exact hm'.symm
      · exact absurd hbefore' (hfirst (hown (hstart hr) ▸ hrkey) (hstart hr') hrkey')
    · rcases hcommitted hc' with hm' | hbefore'
      · subst hm'
        exact absurd hbefore (hfirst (hown (hstart hr') ▸ hrkey') (hstart hr) hrkey)
      · exact h.once m m' r r' (hstart hr) (hstart hr') hrkey hrkey' hbefore hbefore'
  · rw [hsends] at hb
    rcases of_find?_sendMoves hb with ⟨-, a', ha', rfl⟩ | ⟨-, hb⟩
    · rw [hopen.find] at ha'
      cases ha'
      cases hphase
      exact ⟨(hmem _).mpr (.inr rfl), hkey.trans hbkey⟩
    · obtain ⟨hmsg, hmsgkey⟩ := h.phase m b msg hb hbkey hphase
      exact ⟨(hmem msg).mpr (.inl hmsg), hmsgkey⟩
  · have hold : .send m (.answered (.ok ack)) ∈ trace := by
      rcases List.mem_cons.mp hack with heq | hbefore
      · cases heq
      · exact hbefore
    obtain ⟨msg, hmsg, hrest⟩ := h.acknowledged m r ack (hstart hr) hrkey hold
    exact ⟨msg, (hmem msg).mpr (.inl hmsg), hrest⟩

/-- The log of a key, in every run that retains its message. -/
theorem keyLog_of_run
    (h : ((messaging decoders presignDownload).guarded (Retained key)).Run trace w) :
    KeyLog key trace w := by
  refine h.invariant (I := KeyLog key) (fun w hw => ?_)
    fun trace w action w' hrun hlog hboth => ?_
  · refine ⟨fun _ _ h => ?_, fun _ _ _ _ h => ?_, fun n a m ha => ?_, fun _ _ _ h => ?_⟩
    · cases h
    · cases h
    · rw [hw.sends] at ha
      cases ha
    · cases h
  · obtain ⟨hstep, hretained⟩ := hboth
    have hsendLog := sendLog_of_run hrun.of_guarded
    have hdrafts := drafts_of_run hrun.of_guarded
    cases effect_of_step (purgesRead_of_run hrun.of_guarded) hstep with
    -- Aside from the sends, a message of the key goes only where the run would not be retained.
    | aside haction hsends hstarted hclock hsequence htrimmed hkept =>
      refine hlog.keep (fun m hm hkey => hkept m hm fun hremoves => hretained hremoves m hm hkey)
        (fun n r event hr _ => ?_) (fun n heq => ?_) (fun n ack r heq => ?_)
        fun n a m ha _ => hsends ▸ ha
      · rcases List.mem_cons.mp hr with rfl | hr
        · cases haction
        · exact hr
      · subst heq
        cases haction
      · subst heq
        cases haction
    -- A send that begins has a new number, so nothing was acknowledged under it.
    | @start request _ hfree hsends hstarted hclock hsequence hdb =>
      refine hlog.keep (fun m hm _ => hdb ▸ hm) (fun n r event hr hevent => ?_) (by simp) (by simp)
        fun n a m ha hm => ?_
      · rcases List.mem_cons.mp hr with heq | hr
        · cases heq
          rcases List.mem_cons.mp hevent with heq | hevent
          · cases heq
          · obtain ⟨r', hr'⟩ := hsendLog.known _ _ hevent
            exact absurd (hsendLog.started _ r' hr') (lt_irrefl _)
        · exact hr
      · rw [hsends, Table.find?_insert] at ha
        split at ha
        · cases ha
          cases hm
        · exact ha
    -- The commit is the one event that writes; it adds the message of its key or finds it.
    | @send n a event _ hfind hstep =>
      have hn : a.number = n := number_of_find? hfind
      by_cases hevent : event = .committed
      · subst hevent
        cases hstep with
        | commit hphase hnow hlock hstore =>
          exact hlog.commit hsendLog hdrafts ⟨hfind, hphase⟩ hstore rfl (by rw [← hn]; rfl)
      -- Any other event leaves the tables.
      · have hdb : w'.db = w.db := by
          rcases hstep.tables.2.2 with hdb | ⟨heq, -⟩
          · exact hdb
          · exact absurd heq hevent
        refine hlog.keep (fun m hm _ => hdb ▸ hm) (fun m r event hr _ => ?_) (fun m heq => ?_)
          (fun m ack r heq hr hkey => ?_) fun m b msg hb hphase => ?_
        · rcases List.mem_cons.mp hr with heq | hr
          · cases heq
          · exact hr
        · cases heq
          exact hevent rfl
        · cases heq
          obtain rfl : r = a.request := hsendLog.one _ _ _ hr (hsendLog.sent _ a hfind)
          exact hstep.answered hdrafts hfind fun m hm => (hlog.phase _ a m hfind hkey hm).1
        · exact hstep.move.phase_committed hevent hb hphase

/-- **Sends of one key acknowledge one message**, as long as it is not removed. -/
theorem acknowledgements_agree
    (h : ((messaging decoders presignDownload).guarded (Retained key)).Run trace w)
    {n n' : ℕ} {request request' : SendRequest} {ack ack' : MessageAcknowledgement}
    (hr : .sendStarted n request ∈ trace) (hr' : .sendStarted n' request' ∈ trace)
    (hkey : request.key = key) (hkey' : request'.key = key)
    (hack : .send n (.answered (.ok ack)) ∈ trace)
    (hack' : .send n' (.answered (.ok ack')) ∈ trace) :
    ack.id = ack'.id ∧ ack.serverSequence = ack'.serverSequence := by
  have hlog := keyLog_of_run h
  obtain ⟨m, hm, hmatches, heq⟩ := hlog.acknowledged n request ack hr hkey hack
  obtain ⟨m', hm', hmatches', heq'⟩ := hlog.acknowledged n' request' ack' hr' hkey' hack'
  obtain rfl : m = m' := (drafts_of_run h.of_guarded).keys m hm m' hm'
    ((hmatches.key.trans hkey).trans (hmatches'.key.trans hkey').symm)
  rw [heq, heq']
  exact ⟨rfl, rfl⟩

end Messaging

end SinoChat
