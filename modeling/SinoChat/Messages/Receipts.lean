import SinoChat.Model.Http
import SinoChat.Model.Receipts

/-!
# Receipts move forward

The trigger makes every write of a receipt a step forward (`Forward`), whatever the
interleaving. Whether a write passes it depends on the clock reading of the call:
the reading of a call that waits for the lock may be older than the `delivered_at`
that another call has written meanwhile, and then a call that marks the message as
read is refused although its condition on the row holds (`refused_late`). Where no
such call gets the lock (`InOrder`), every call that the row admits is carried out,
and the web client takes the receipt in every state (`receipts_move_forward`).
-/

namespace SinoChat

open Js MessagePayload

namespace Messaging

open MessageTables (rank progress receiptValid)

namespace Receipts

variable {P : ℕ → Prop} {w w' : World} {a : Action} {n : ℕ} {createdAt clock now : ℕ}
variable {requested : MessageDeliveryStatus} {row new : MessageReceipt}

/-! ## Writes -/

/-- **One receipt is not behind another**: it is further in its status and has the times
that the other has. -/
structure Forward (old new : MessageReceipt) : Prop where
  messageId : new.messageId = old.messageId
  recipientUserId : new.recipientUserId = old.recipientUserId
  status : rank old.status ≤ rank new.status
  deliveredAt : ∀ time, old.deliveredAt = some time → new.deliveredAt = some time
  readAt : ∀ time, old.readAt = some time → new.readAt = some time

theorem Forward.refl (r : MessageReceipt) : Forward r r :=
  ⟨rfl, rfl, Nat.le_refl _, fun _ h => h, fun _ h => h⟩

theorem Forward.trans {r r' r'' : MessageReceipt} (h : Forward r r') (h' : Forward r' r'') :
    Forward r r'' where
  messageId := h'.messageId.trans h.messageId
  recipientUserId := h'.recipientUserId.trans h.recipientUserId
  status := h.status.trans h'.status
  deliveredAt time hr := h'.deliveredAt time (h.deliveredAt time hr)
  readAt time hr := h'.readAt time (h.readAt time hr)

/-- A status for each rank. -/
theorem receiptValid_iff {r : MessageReceipt} : receiptValid r = true ↔
    (r.status = .sent ∧ r.deliveredAt = none ∧ r.readAt = none) ∨
    (r.status = .delivered ∧ (∃ time, r.deliveredAt = some time) ∧ r.readAt = none) ∨
    (r.status = .read ∧ ∃ deliveredAt readAt, r.deliveredAt = some deliveredAt ∧
      r.readAt = some readAt ∧ deliveredAt ≤ readAt) := by
  obtain ⟨messageId, recipientUserId, status, deliveredAt, readAt⟩ := r
  cases status <;> cases deliveredAt <;> cases readAt <;> simp [receiptValid]

/-- **What the database lets pass** goes forward and is valid, at times that have been. -/
theorem writeReceipt_ok (h : writeReceipt createdAt clock now requested row = .ok new) :
    new = progress requested now row ∧ Forward row new ∧ receiptValid new = true ∧
      ∀ time, new.deliveredAt = some time ∨ new.readAt = some time →
        createdAt ≤ time ∧ time ≤ clock := by
  obtain ⟨_, htrigger, h⟩ := bind_eq_ok.mp h
  obtain ⟨_, hvalid, h⟩ := bind_eq_ok.mp h
  obtain rfl := Except.ok.inj h
  obtain ⟨_, -, htrigger⟩ := bind_eq_ok.mp htrigger
  obtain ⟨_, hstatus, htrigger⟩ := bind_eq_ok.mp htrigger
  obtain ⟨_, htimes, htrigger⟩ := bind_eq_ok.mp htrigger
  simp only [require_eq_ok, Bool.and_eq_true, decide_eq_true_eq, Option.all_eq_true]
    at hstatus htimes htrigger hvalid
  refine ⟨rfl, ⟨rfl, rfl, hstatus, htimes.1, htimes.2⟩, hvalid, fun time htime => ?_⟩
  rcases htime with htime | htime
  · exact htrigger.1 time htime
  · exact (htrigger.2 time htime).1

/-- A receipt as the database has it: valid, at times since the message, each of a kind. -/
structure Good (P : ℕ → Prop) (createdAt clock : ℕ) (r : MessageReceipt) : Prop where
  messageId : fixed uuidV4Pattern r.messageId.text = true
  recipientUserId : fixed uuidV4Pattern r.recipientUserId.text = true
  valid : receiptValid r = true
  times : ∀ time, r.deliveredAt = some time ∨ r.readAt = some time →
    createdAt ≤ time ∧ time ≤ clock ∧ P time

/-- A good receipt stays good. -/
theorem Good.later {clock' : ℕ} (h : Good P createdAt clock row) (hle : clock ≤ clock') :
    Good P createdAt clock' row :=
  ⟨h.messageId, h.recipientUserId, h.valid, fun time htime =>
    ⟨(h.times time htime).1, (h.times time htime).2.1.trans hle, (h.times time htime).2.2⟩⟩

/-- A written receipt has the times of the row and the reading of the call. -/
theorem Good.write (h : Good P createdAt clock row) (hnow : P now)
    (hwrite : writeReceipt createdAt clock now requested row = .ok new) :
    Good P createdAt clock new := by
  obtain ⟨rfl, hforward, hvalid, htimes⟩ := writeReceipt_ok hwrite
  refine ⟨h.messageId, h.recipientUserId, hvalid, fun time htime => ?_⟩
  refine ⟨(htimes time htime).1, (htimes time htime).2, ?_⟩
  rcases htime with htime | htime
  · cases hdelivered : row.deliveredAt with
    | none =>
      rw [progress, hdelivered] at htime
      obtain rfl := Option.some.inj htime
      exact hnow
    | some old =>
      rw [hforward.deliveredAt old hdelivered] at htime
      obtain rfl := Option.some.inj htime
      exact (h.times old (.inl hdelivered)).2.2
  · cases hread : row.readAt with
    | none =>
      simp only [progress, hread, Option.getD_none] at htime
      split_ifs at htime
      obtain rfl := Option.some.inj htime
      exact hnow
    | some old =>
      rw [hforward.readAt old hread] at htime
      obtain rfl := Option.some.inj htime
      exact (h.times old (.inr hread)).2.2

/-- The reading of a call is not behind the time at which the row was delivered. -/
def NotLate (requested : MessageDeliveryStatus) (now : ℕ) (row : MessageReceipt) : Prop :=
  requested = .read → ∀ deliveredAt, row.deliveredAt = some deliveredAt → deliveredAt ≤ now

/-- **A write that the row admits passes the database** where its reading is not late. -/
theorem writeReceipt_of_notLate (h : Good P createdAt clock row) (hcreated : createdAt ≤ now)
    (hclock : now ≤ clock) (hrequested : requested = .delivered ∨ requested = .read)
    (hadmits : admits requested row = true) (hlate : NotLate requested now row) :
    writeReceipt createdAt clock now requested row = .ok (progress requested now row) := by
  have hrank : rank row.status < rank requested := by simpa [admits] using hadmits
  obtain ⟨messageId, recipientUserId, status, deliveredAt, readAt⟩ := row
  rcases receiptValid_iff.mp h.valid with ⟨hs, hd, hr⟩ | ⟨hs, ⟨time, hd⟩, hr⟩ | ⟨hs, -⟩
  · obtain ⟨rfl, rfl, rfl⟩ : status = .sent ∧ deliveredAt = none ∧ readAt = none := ⟨hs, hd, hr⟩
    rcases hrequested with rfl | rfl <;>
      simp [writeReceipt, enforceReceiptProgress, progress, receiptValid, require, rank, hcreated,
        hclock, bind, Except.bind, pure, Except.pure]
  · obtain ⟨rfl, rfl, rfl⟩ : status = .delivered ∧ deliveredAt = some time ∧ readAt = none :=
      ⟨hs, hd, hr⟩
    have htime := h.times time (.inl rfl)
    rcases hrequested with rfl | rfl
    · simp [rank] at hrank
    · have hle : time ≤ now := hlate rfl time rfl
      simp [writeReceipt, enforceReceiptProgress, progress, receiptValid, require, rank, hcreated,
        hclock, hle, htime.1, htime.2.1, bind, Except.bind, pure, Except.pure]
  · obtain rfl : status = .read := hs
    rcases hrequested with rfl | rfl <;> simp [rank] at hrank

/-- **And is refused where it is late.** -/
theorem writeReceipt_of_late {deliveredAt : ℕ} (h : Good P createdAt clock row)
    (hadmits : admits .read row = true) (hdelivered : row.deliveredAt = some deliveredAt)
    (hlate : now < deliveredAt) :
    writeReceipt createdAt clock now .read row =
      .error (.internal "message receipt contains incoherent event timestamps") := by
  have hrank : rank row.status < rank .read := by simpa [admits] using hadmits
  obtain ⟨messageId, recipientUserId, status, delivered, readAt⟩ := row
  rcases receiptValid_iff.mp h.valid with ⟨-, hd, -⟩ | ⟨hs, -, hr⟩ | ⟨hs, -⟩
  · rw [hdelivered] at hd
    cases hd
  · obtain ⟨rfl, rfl, rfl⟩ : status = .delivered ∧ delivered = some deliveredAt ∧ readAt = none :=
      ⟨hs, hdelivered, hr⟩
    have hnot : ¬ deliveredAt ≤ now := by omega
    simp [writeReceipt, enforceReceiptProgress, progress, require, rank, hnot, bind, Except.bind]
  · obtain rfl : status = .read := hs
    simp [rank] at hrank

/-! ## The web client -/

/-- Of a time before the year 10000. -/
def Dated (time : ℕ) : Prop := time / 1000 < isoDateLimit

/-- A date is read back from its text. -/
theorem nullableIsoDate_dateJson {time : Option ℕ} {code : ErrorCode}
    (h : ∀ t, time = some t → Dated t) :
    nullableIsoDate (some (dateJson time)) code =
      .ok (time.map fun t => toISOString (t / 1000)) := by
  cases time with
  | none => rfl
  | some t =>
    have hform := isIsoDateText_toISOString (h t rfl)
    have hparse := dateParse_toISOString (h t rfl)
    simp [nullableIsoDate, dateJson, isoDate, Json.str?, hform, hparse, orThrow, Except.map]

/-- So is a status. -/
theorem receiptStatus_statusText (status : MessageDeliveryStatus) :
    receiptStatus (some (.str (statusText status))) = .ok status := by
  cases status <;> rfl

/-- So is an identifier. -/
theorem uuid_text {id : Uuid} {code : ErrorCode} (h : fixed uuidV4Pattern id.text = true) :
    MessagePayload.uuid (some (.str id.text)) code = .ok id := by
  simp [MessagePayload.uuid, Json.str?, h, orThrow]

/-- Whole milliseconds keep the order. -/
theorem readEarlier_eq_false {deliveredAt readAt : ℕ} (hdelivered : Dated deliveredAt)
    (hread : Dated readAt) (hle : deliveredAt ≤ readAt) :
    readEarlier (some (toISOString (deliveredAt / 1000))) (some (toISOString (readAt / 1000))) =
      false := by
  have hms : deliveredAt / 1000 ≤ readAt / 1000 := Nat.div_le_div_right hle
  simp only [readEarlier, Option.bind_some, dateParse_toISOString hdelivered,
    dateParse_toISOString hread, decide_eq_false_iff_not]
  omega

/-- What the client makes of a receipt. -/
def viewOf (id : Uuid) (r : MessageReceipt) : ReceiptView :=
  ⟨id, r.status, r.deliveredAt.map fun t => toISOString (t / 1000),
    r.readAt.map fun t => toISOString (t / 1000)⟩

/-- **`parseReceipt` takes every receipt that the database has.** -/
theorem parseReceipt_receiptJson (h : Good Dated createdAt clock row) :
    parseReceipt (receiptJson row) = .ok (viewOf row.recipientUserId row) := by
  have hdelivered := @nullableIsoDate_dateJson row.deliveredAt "MESSAGE_RECEIPT_INVALID"
    fun t ht => (h.times t (.inl ht)).2.2
  have hread := @nullableIsoDate_dateJson row.readAt "MESSAGE_RECEIPT_INVALID"
    fun t ht => (h.times t (.inr ht)).2.2
  refine bind_eq_ok.mpr ⟨_, rfl, bind_eq_ok.mpr ⟨(), rfl, bind_eq_ok.mpr ⟨row.status,
    receiptStatus_statusText _, bind_eq_ok.mpr ⟨_, hdelivered, bind_eq_ok.mpr ⟨_, hread,
    bind_eq_ok.mpr ⟨(), require_eq_ok.mpr ?_, bind_eq_ok.mpr ⟨row.recipientUserId,
    uuid_text h.recipientUserId, rfl⟩⟩⟩⟩⟩⟩⟩
  rcases receiptValid_iff.mp h.valid with ⟨hs, hd, hr⟩ | ⟨hs, ⟨t, hd⟩, hr⟩ | ⟨hs, d, t, hd, hr, hle⟩
  · simp [hs, hd, hr, readEarlier]
  · simp [hs, hd, hr, readEarlier]
  · have horder := readEarlier_eq_false (h.times d (.inl hd)).2.2 (h.times t (.inr hr)).2.2 hle
    simp [hs, hd, hr, horder]

/-- **`parseMessageReceiptAcknowledgement` takes every one that has been updated.** -/
theorem parseMessageReceiptAcknowledgement_acknowledgementJson
    (h : Good Dated createdAt clock row) (hsent : row.status ≠ .sent) :
    parseMessageReceiptAcknowledgement (acknowledgementJson row) row.messageId.text =
      .ok (viewOf row.messageId row) := by
  have hdelivered := @nullableIsoDate_dateJson row.deliveredAt "MESSAGE_RECEIPT_ACK_INVALID"
    fun t ht => (h.times t (.inl ht)).2.2
  have hread := @nullableIsoDate_dateJson row.readAt "MESSAGE_RECEIPT_ACK_INVALID"
    fun t ht => (h.times t (.inr ht)).2.2
  refine bind_eq_ok.mpr ⟨_, rfl, bind_eq_ok.mpr ⟨(), rfl, bind_eq_ok.mpr ⟨row.messageId,
    uuid_text h.messageId, bind_eq_ok.mpr ⟨row.messageId, uuid_text h.messageId,
    bind_eq_ok.mpr ⟨row.status, receiptStatus_statusText _, bind_eq_ok.mpr ⟨_, hdelivered,
    bind_eq_ok.mpr ⟨_, hread, bind_eq_ok.mpr ⟨(), require_eq_ok.mpr ?_, rfl⟩⟩⟩⟩⟩⟩⟩⟩
  rcases receiptValid_iff.mp h.valid with ⟨hs, -⟩ | ⟨hs, ⟨t, hd⟩, hr⟩ | ⟨hs, d, t, hd, hr, hle⟩
  · exact absurd hs hsent
  · simp [hs, hd, hr, readEarlier]
  · have horder := readEarlier_eq_false (h.times d (.inl hd)).2.2 (h.times t (.inr hr)).2.2 hle
    simp [hs, hd, hr, horder]

/-! ## States -/

/-- **The invariant of a run**, where the clock readings are of a kind. -/
structure Holds (P : ℕ → Prop) (w : World) : Prop where
  created : w.createdAt ≤ w.clock
  receipt : ∀ r, w.receipt = some r → Good P w.createdAt w.clock r
  requested : ∀ n call, w.calls n = some call →
    call.requested = .delivered ∨ call.requested = .read
  waiting : ∀ n requested now, w.calls n = some ⟨requested, .waiting now⟩ →
    w.createdAt ≤ now ∧ now ≤ w.clock ∧ P now
  returned : ∀ n requested r, w.calls n = some ⟨requested, .returned (.ok r)⟩ →
    Good P w.createdAt w.clock r

theorem calls_set {m : ℕ} {call found : Call} (h : (w.set n call).calls m = some found) :
    found = call ∨ w.calls m = some found := by
  by_cases hm : m = n
  · subst hm
    simp only [World.set, Function.update_self] at h
    exact .inl (Option.some.inj h).symm
  · simp only [World.set, Function.update_of_ne hm] at h
    exact .inr h

/-- A call in a phase that is in order. -/
theorem Holds.set {call : Call} (h : Holds P w)
    (hrequested : call.requested = .delivered ∨ call.requested = .read)
    (hwaiting : ∀ now, call.phase = .waiting now → w.createdAt ≤ now ∧ now ≤ w.clock ∧ P now)
    (hreturned : ∀ r, call.phase = .returned (.ok r) → Good P w.createdAt w.clock r) :
    Holds P (w.set n call) where
  created := h.created
  receipt := h.receipt
  requested m found hfound := by
    rcases calls_set hfound with rfl | hfound
    · exact hrequested
    · exact h.requested m found hfound
  waiting m requested now hfound := by
    rcases calls_set hfound with rfl | hfound
    · exact hwaiting now rfl
    · exact h.waiting m requested now hfound
  returned m requested r hfound := by
    rcases calls_set hfound with rfl | hfound
    · exact hreturned r rfl
    · exact h.returned m requested r hfound

/-- What a call with the lock can do: miss, be refused, or write the receipt. -/
theorem granted_cases (w : World) (n : ℕ) (requested : MessageDeliveryStatus) (now : ℕ) :
    granted w n requested now = w.set n ⟨requested, .missed⟩ ∨
      ∃ row, w.receipt = some row ∧ admits requested row = true ∧
        ((∃ e, writeReceipt w.createdAt w.clock now requested row = .error e ∧
          granted w n requested now = w.set n ⟨requested, .returned (.error e)⟩) ∨
        ∃ new, writeReceipt w.createdAt w.clock now requested row = .ok new ∧
          granted w n requested now =
            { w.set n ⟨requested, .returned (.ok new)⟩ with receipt := some new }) := by
  unfold granted
  cases hrow : w.receipt with
  | none => exact .inl rfl
  | some row =>
    by_cases hadmits : admits requested row = true
    · refine .inr ⟨row, rfl, hadmits, ?_⟩
      simp only [hadmits, if_true]
      cases hwrite : writeReceipt w.createdAt w.clock now requested row with
      | ok new => exact .inr ⟨new, rfl, rfl⟩
      | error e => exact .inl ⟨e, rfl, rfl⟩
    · exact .inl (by simp [hadmits])

/-- The step of a call with the lock. -/
theorem Holds.granted (h : Holds P w) (hcall : w.calls n = some ⟨requested, .waiting now⟩) :
    Holds P (granted w n requested now) := by
  have hrequested := h.requested n _ hcall
  obtain ⟨-, -, hnow⟩ := h.waiting n requested now hcall
  rcases granted_cases w n requested now with hgranted | ⟨row, hrow, -, ⟨e, -, hgranted⟩ | hok⟩
  · rw [hgranted]
    exact h.set hrequested (by simp) (by simp)
  · rw [hgranted]
    exact h.set hrequested (by simp) (by simp)
  · obtain ⟨new, hwrite, hgranted⟩ := hok
    rw [hgranted]
    have hgood := (h.receipt row hrow).write hnow hwrite
    have hset : Holds P (w.set n ⟨requested, .returned (.ok new)⟩) := by
      refine h.set hrequested (by simp) fun r hr => ?_
      obtain rfl : new = r := by simpa using hr
      exact hgood
    refine ⟨hset.created, fun r hr => ?_, hset.requested, hset.waiting, hset.returned⟩
    obtain rfl := Option.some.inj hr
    exact hgood

/-- **Every step keeps the invariant.** -/
theorem Holds.step (h : Holds P w) (hstep : Step w a w')
    (hclock : ∀ n requested snapshot, a = .clockRead n →
      w.calls n = some ⟨requested, .started snapshot⟩ → w.clock < w.expiresAt →
      snapshot.any (admits requested) = true → P w.clock) : Holds P w' := by
  cases hstep with
  | tick clock hle =>
    exact ⟨h.created.trans hle, fun r hr => (h.receipt r hr).later hle, h.requested,
      fun m requested now hcall => ⟨(h.waiting m requested now hcall).1,
        (h.waiting m requested now hcall).2.1.trans hle, (h.waiting m requested now hcall).2.2⟩,
      fun m requested r hcall => (h.returned m requested r hcall).later hle⟩
  | began n requested inReach _ hrequested => exact h.set hrequested (by simp) (by simp)
  | clockRead n requested snapshot hcall =>
    have hrequested := h.requested n _ hcall
    refine h.set hrequested (fun now hnow => ?_) fun r hr => ?_
    · simp only [readClock] at hnow
      split_ifs at hnow with hkept
      cases hnow
      exact ⟨h.created, Nat.le_refl _, hclock n requested snapshot rfl hcall hkept.1 hkept.2⟩
    · simp only [readClock] at hr
      split_ifs at hr
  | granted n requested now hcall => exact h.granted hcall
  | reread n requested inReach hcall =>
    have hrequested := h.requested n _ hcall
    refine h.set hrequested (by simp) fun r hr => ?_
    have hread : reread w inReach = .ok r := by simpa using hr
    have hsome := orThrow_eq_ok.mp hread
    split_ifs at hsome
    exact h.receipt r hsome
  | deleted => exact ⟨h.created, by simp, h.requested, h.waiting, h.returned⟩

/-- The invariant of receipts that were only sent. -/
theorem Sent.holds (h : Sent w) : Holds P w := by
  obtain ⟨messageId, recipientUserId, hmessage, huser, hreceipt⟩ := h.receipt
  refine ⟨h.created, fun r hr => ?_, fun n call hcall => ?_, fun n requested now hcall => ?_,
    fun n requested r hcall => ?_⟩
  · rw [hreceipt] at hr
    obtain rfl := Option.some.inj hr
    exact ⟨hmessage, huser, rfl, by simp⟩
  all_goals
    rw [h.calls n] at hcall
    cases hcall

/-- **Every step takes the receipt forward.** -/
theorem forward_of_step (hstep : Step w a w') {new : MessageReceipt}
    (hnew : w'.receipt = some new) : ∃ old, w.receipt = some old ∧ Forward old new := by
  have hsame : w'.receipt = w.receipt → ∃ old, w.receipt = some old ∧ Forward old new :=
    fun heq => ⟨new, heq.symm.trans hnew, .refl new⟩
  cases hstep with
  | tick clock hle => exact hsame rfl
  | began n requested inReach _ _ => exact hsame rfl
  | clockRead n requested snapshot hcall => exact hsame rfl
  | granted n requested now hcall =>
    rcases granted_cases w n requested now with hgranted | ⟨row, hrow, -, ⟨e, -, hgranted⟩ | hok⟩
    · exact hsame (by rw [hgranted]; rfl)
    · exact hsame (by rw [hgranted]; rfl)
    · obtain ⟨written, hwrite, hgranted⟩ := hok
      rw [hgranted] at hnew
      obtain rfl := Option.some.inj hnew
      exact ⟨row, hrow, (writeReceipt_ok hwrite).2.1⟩
  | reread n requested inReach hcall => exact hsame rfl
  | deleted => cases hnew

/-- Over any steps. -/
theorem forward_of_steps {later : List Action} (h : machine.Steps w later w')
    {new : MessageReceipt} (hnew : w'.receipt = some new) :
    ∃ old, w.receipt = some old ∧ Forward old new := by
  induction h generalizing new with
  | refl => exact ⟨new, hnew, .refl new⟩
  | step _ hstep ih =>
    obtain ⟨middle, hmiddle, hforward⟩ := forward_of_step hstep hnew
    obtain ⟨old, hold, hbefore⟩ := ih hmiddle
    exact ⟨old, hold, hbefore.trans hforward⟩

/-- The invariant along runs. -/
theorem holds_of_run {trace : List Action} (h : machine.Run trace w) :
    Holds (fun _ => True) w :=
  h.stateInvariant (I := Holds fun _ => True) (fun _ (hs : Sent _) => hs.holds)
    fun _ _ _ hI hstep => hI.step hstep fun _ _ _ _ _ _ _ => trivial

/-! ## Runs in order -/

/-- **A step in order**: a call that gets the lock and writes has no late reading, a `SELECT`
that finds the receipt finds it updated, and a clock reading that is kept is before the
year 10000. -/
structure InOrder (w : World) (a : Action) : Prop where
  granted : ∀ n requested now row, a = .granted n → w.calls n = some ⟨requested, .waiting now⟩ →
    w.receipt = some row → admits requested row = true → NotLate requested now row
  reread : ∀ n row, a = .reread n true → w.clock < w.expiresAt → w.receipt = some row →
    row.status ≠ .sent
  clockRead : ∀ n requested snapshot, a = .clockRead n →
    w.calls n = some ⟨requested, .started snapshot⟩ → w.clock < w.expiresAt →
    snapshot.any (admits requested) = true → Dated w.clock

/-- **What the calls have answered**: the receipt as it was updated, or that there is
none. -/
structure Answers (w : World) : Prop where
  updated : ∀ n requested r, w.calls n = some ⟨requested, .returned (.ok r)⟩ → r.status ≠ .sent
  accepted : ∀ n requested message,
    w.calls n ≠ some ⟨requested, .returned (.error (.internal message))⟩

/-- An answer in its place. -/
theorem Answers.set {call : Call} (h : Answers w)
    (hupdated : ∀ r, call.phase = .returned (.ok r) → r.status ≠ .sent)
    (haccepted : ∀ message, call.phase ≠ .returned (.error (.internal message))) :
    Answers (w.set n call) where
  updated m requested r hfound := by
    rcases calls_set hfound with rfl | hfound
    · exact hupdated r rfl
    · exact h.updated m requested r hfound
  accepted m requested message hfound := by
    rcases calls_set hfound with rfl | hfound
    · exact haccepted message rfl
    · exact h.accepted m requested message hfound

/-- A call in order that the row admits is carried out. -/
theorem Answers.granted (h : Answers w) (hholds : Holds P w)
    (hcall : w.calls n = some ⟨requested, .waiting now⟩) (horder : InOrder w (.granted n)) :
    Answers (granted w n requested now) := by
  have hrequested := hholds.requested n _ hcall
  obtain ⟨hcreated, hclock, -⟩ := hholds.waiting n requested now hcall
  have hwrites : ∀ row, w.receipt = some row → admits requested row = true →
      writeReceipt w.createdAt w.clock now requested row = .ok (progress requested now row) :=
    fun row hrow hadmits => writeReceipt_of_notLate (hholds.receipt row hrow) hcreated hclock
      hrequested hadmits (horder.granted n requested now row rfl hcall hrow hadmits)
  rcases granted_cases w n requested now with hgranted | ⟨row, hrow, hadmits, herror | hok⟩
  · rw [hgranted]
    exact h.set (by simp) (by simp)
  · obtain ⟨e, hwrite, -⟩ := herror
    rw [hwrites row hrow hadmits] at hwrite
    cases hwrite
  · obtain ⟨new, hwrite, hgranted⟩ := hok
    rw [hgranted]
    have hset : Answers (w.set n ⟨requested, .returned (.ok new)⟩) := by
      refine h.set (fun r hr => ?_) (by simp)
      obtain rfl : new = r := by simpa using hr
      obtain ⟨rfl, -⟩ := writeReceipt_ok hwrite
      rcases hrequested with rfl | rfl <;> simp [progress]
    exact ⟨hset.updated, hset.accepted⟩

/-- **What is answered, through a step in order.** -/
theorem Answers.step (h : Answers w) (hholds : Holds P w) (hstep : Step w a w')
    (horder : InOrder w a) : Answers w' := by
  cases hstep with
  | tick clock _ => exact ⟨h.updated, h.accepted⟩
  | began n requested inReach _ _ => exact h.set (by simp) (by simp)
  | clockRead n requested snapshot hcall =>
    refine h.set (fun r hr => ?_) fun message hmessage => ?_
    · simp only [readClock] at hr
      split_ifs at hr
    · simp only [readClock] at hmessage
      split_ifs at hmessage
  | granted n requested now hcall => exact h.granted hholds hcall horder
  | reread n requested inReach hcall =>
    refine h.set (fun r hr => ?_) fun message hmessage => ?_
    · have hread : reread w inReach = .ok r := by simpa using hr
      have hsome := orThrow_eq_ok.mp hread
      split_ifs at hsome with hfound
      obtain ⟨rfl, hlive⟩ := hfound
      exact horder.reread n r rfl hlive hsome
    · have hread : reread w inReach = .error (.internal message) := by simpa using hmessage
      unfold reread at hread
      cases hfound : (if inReach = true ∧ w.clock < w.expiresAt then w.receipt else none) with
      | none =>
        rw [hfound] at hread
        cases hread
      | some r =>
        rw [hfound] at hread
        cases hread
  | deleted => exact ⟨h.updated, h.accepted⟩

/-- **What the web client can rely on** in a state. -/
structure Consistent (w : World) : Prop where
  /-- The times of the receipt are in order, and `parseReceipt` takes it. -/
  receipt : ∀ r, w.receipt = some r →
    (∀ deliveredAt readAt, r.deliveredAt = some deliveredAt → r.readAt = some readAt →
      deliveredAt ≤ readAt) ∧
    parseReceipt (receiptJson r) = .ok (viewOf r.recipientUserId r)
  /-- `parseMessageReceiptAcknowledgement` takes a receipt that has been updated. -/
  updated : ∀ r, w.receipt = some r → r.status ≠ .sent →
    parseMessageReceiptAcknowledgement (acknowledgementJson r) r.messageId.text =
      .ok (viewOf r.messageId r)
  /-- And every receipt that a call returns. -/
  returned : ∀ n requested r, w.calls n = some ⟨requested, .returned (.ok r)⟩ →
    parseMessageReceiptAcknowledgement (acknowledgementJson r) r.messageId.text =
      .ok (viewOf r.messageId r)
  /-- The database has refused no call. -/
  accepted : ∀ n requested message,
    w.calls n ≠ some ⟨requested, .returned (.error (.internal message))⟩

/-- A receipt is delivered before it is read. -/
theorem Good.ordered (h : Good P createdAt clock row) {deliveredAt readAt : ℕ}
    (hdelivered : row.deliveredAt = some deliveredAt) (hread : row.readAt = some readAt) :
    deliveredAt ≤ readAt := by
  rcases receiptValid_iff.mp h.valid with ⟨-, hd, -⟩ | ⟨-, -, hr⟩ | ⟨-, d, t, hd, hr, hle⟩
  · rw [hdelivered] at hd
    cases hd
  · rw [hread] at hr
    cases hr
  · rw [hdelivered] at hd
    rw [hread] at hr
    obtain rfl := Option.some.inj hd
    obtain rfl := Option.some.inj hr
    exact hle

/-- What is stored and answered agrees. -/
theorem consistent (h : Holds Dated w) (hanswers : Answers w) : Consistent w where
  receipt r hr := ⟨fun _ _ => (h.receipt r hr).ordered, parseReceipt_receiptJson (h.receipt r hr)⟩
  updated r hr := parseMessageReceiptAcknowledgement_acknowledgementJson (h.receipt r hr)
  returned n requested r hcall := parseMessageReceiptAcknowledgement_acknowledgementJson
    (h.returned n requested r hcall) (hanswers.updated n requested r hcall)
  accepted := hanswers.accepted

/-- Both invariants along runs in order. -/
theorem ordered_of_run {trace : List Action} (h : (machine.guarded InOrder).Run trace w) :
    Holds Dated w ∧ Answers w := by
  refine h.stateInvariant (I := fun s => Holds Dated s ∧ Answers s)
    (fun s (hs : Sent s) => ⟨hs.holds, ?_⟩)
    fun s a s' ⟨hholds, hanswers⟩ (hstep : Step s a s' ∧ InOrder s a) => ?_
  · have hnone : ∀ n (call : Call), s.calls n ≠ some call := fun n call hcall => by
      rw [hs.calls n] at hcall
      cases hcall
    exact ⟨fun n requested r hcall => absurd hcall (hnone n _), fun n _ _ => hnone n _⟩
  · exact ⟨hholds.step hstep.1 hstep.2.clockRead, hanswers.step hholds hstep.1 hstep.2⟩

/-- **Receipts only move forward**, in every run; in a run whose steps are in order no call
is refused by the database, and the web client takes every receipt. A call with a late
reading is refused when it gets the lock. -/
theorem receipts_move_forward {trace : List Action} {w : World} (hrun : machine.Run trace w) :
    (∀ later w', machine.Steps w later w' →
      ∀ r r', w.receipt = some r → w'.receipt = some r' → Forward r r') ∧
    ((machine.guarded InOrder).Run trace w → Consistent w) ∧
    ∀ n requested now row, w.calls n = some ⟨requested, .waiting now⟩ → w.receipt = some row →
      admits requested row = true → ¬ NotLate requested now row →
      granted w n requested now = w.set n ⟨requested, .returned (.error (.internal
        "message receipt contains incoherent event timestamps"))⟩ := by
  refine ⟨fun later w' hsteps r r' hr hr' => ?_, fun hordered => ?_,
    fun n requested now row hcall hrow hadmits hlate => ?_⟩
  · obtain ⟨old, hold, hforward⟩ := forward_of_steps hsteps hr'
    rw [hr] at hold
    obtain rfl := Option.some.inj hold
    exact hforward
  · obtain ⟨hholds, hanswers⟩ := ordered_of_run hordered
    exact consistent hholds hanswers
  · have hgood := (holds_of_run hrun).receipt row hrow
    simp only [NotLate, not_forall, not_le] at hlate
    obtain ⟨rfl, deliveredAt, hdelivered, hlt⟩ := hlate
    have hwrite := writeReceipt_of_late hgood hadmits hdelivered hlt
    simp only [granted, hrow, hadmits, if_true, hwrite]

/-! ### Two calls -/

namespace Sample

theorem valid_message : SinoChat.uuid (js "00000000-0000-4000-8000-000000000001") = true := by
  decide

/-- The ids of the sample. -/
def message : Uuid := ⟨js "00000000-0000-4000-8000-000000000001", valid_message⟩

theorem valid_recipient : SinoChat.uuid (js "00000000-0000-4000-8000-000000000002") = true := by
  decide

def recipient : Uuid := ⟨js "00000000-0000-4000-8000-000000000002", valid_recipient⟩

/-- A receipt that was only sent. -/
def sent : MessageReceipt := ⟨message, recipient, .sent, none, none⟩

/-- A message of the first second. -/
def world : World := ⟨1000000, 1000000, 172801000000, some sent, fun _ => none⟩

/-- The receipt of the sample was only sent. -/
theorem sent_world : Sent world :=
  ⟨Nat.le_refl _, ⟨message, recipient, by decide, by decide, rfl⟩, fun _ => rfl⟩

/-- The receipt after a call at the next second. -/
def delivered : MessageReceipt := ⟨message, recipient, .delivered, some 2000000, none⟩

/-- A call reads the clock; before it gets the lock, another call has written the receipt
at a later reading. -/
theorem run_of_late : ∃ trace w, machine.Run trace w ∧ w.calls 0 = some ⟨.read, .waiting 1000000⟩ ∧
    w.receipt = some delivered := by
  have h₁ := (Machine.Run.init sent_world : machine.Run [] world).step
    (@Step.began _ 0 .read true rfl (.inr rfl))
  have h₂ := h₁.step (@Step.began _ 1 .delivered true rfl (.inl rfl))
  have h₃ := h₂.step (@Step.clockRead _ 0 .read (some sent) rfl)
  have h₄ := h₃.step (@Step.tick _ 2000000 (by decide))
  have h₅ := h₄.step (@Step.clockRead _ 1 .delivered (some sent) rfl)
  have h₆ := h₅.step (@Step.granted _ 1 .delivered 2000000 rfl)
  exact ⟨_, _, h₆, rfl, rfl⟩

/-- **A call is refused** although the receipt that it has locked is not read yet. -/
theorem refused_late : ∃ trace w, machine.Run trace w ∧
    w.calls 0 = some ⟨.read, .waiting 1000000⟩ ∧ w.receipt = some delivered ∧
    admits .read delivered = true ∧
    (granted w 0 .read 1000000).calls 0 = some ⟨.read, .returned (.error (.internal
      "message receipt contains incoherent event timestamps"))⟩ := by
  obtain ⟨trace, w, hrun, hcall, hrow⟩ := run_of_late
  refine ⟨trace, w, hrun, hcall, hrow, rfl, ?_⟩
  have hwrite : writeReceipt w.createdAt w.clock 1000000 .read delivered =
      .error (.internal "message receipt contains incoherent event timestamps") :=
    writeReceipt_of_late ((holds_of_run hrun).receipt _ hrow) rfl rfl (by decide)
  have hadmits : admits .read delivered = true := rfl
  simp only [granted, hrow, hadmits, if_true, hwrite, World.set, Function.update_self]

/-- A call that marks the message as delivered is never late. -/
theorem inOrder_granted {w : World} {now : ℕ} (h : w.calls 0 = some ⟨.delivered, .waiting now⟩) :
    InOrder w (.granted 0) where
  granted n requested now row ha hcall _ _ hread := by
    obtain rfl : 0 = n := by simpa using ha
    rw [h] at hcall
    cases hcall
    cases hread
  reread := by simp
  clockRead := by simp

/-- One call does not find the message, one marks it as delivered, and the late one is
refused. -/
theorem receipts_move_forward_one :
    (∃ later w', machine.Steps world later w' ∧
      w'.calls 1 = some ⟨.read, .returned (.error (.withMessage 404 "Mensaje no disponible."))⟩ ∧
      ∃ r, w'.receipt = some r ∧ r.status = .delivered ∧ Forward sent r ∧ Consistent w') ∧
    ∃ w, granted w 0 .read 1000000 = w.set 0 ⟨.read, .returned (.error (.internal
      "message receipt contains incoherent event timestamps"))⟩ := by
  have s₁ := (Machine.Steps.refl : machine.Steps world [] world).step
    (@Step.began _ 0 .delivered true rfl (.inl rfl))
  have s₂ := s₁.step (@Step.clockRead _ 0 .delivered (some sent) rfl)
  have s₃ := s₂.step (@Step.began _ 1 .read false rfl (.inr rfl))
  have s₄ := s₃.step (@Step.clockRead _ 1 .read none rfl)
  have s₅ := s₄.step (@Step.reread _ 1 .read false rfl)
  have s₆ := s₅.step (@Step.granted _ 0 .delivered 1000000 rfl)
  have h₁ := (Machine.Run.init sent_world : (machine.guarded InOrder).Run [] world).step
    ⟨@Step.began _ 0 .delivered true rfl (.inl rfl), by simp, by simp, by simp⟩
  have h₂ := h₁.step ⟨@Step.clockRead _ 0 .delivered (some sent) rfl, by simp, by simp,
    fun _ _ _ _ _ _ _ => show 1000000 / 1000 < isoDateLimit by decide⟩
  have h₃ := h₂.step ⟨@Step.began _ 1 .read false rfl (.inr rfl), by simp, by simp, by simp⟩
  have h₄ := h₃.step ⟨@Step.clockRead _ 1 .read none rfl, by simp, by simp,
    fun _ _ _ _ _ _ _ => show 1000000 / 1000 < isoDateLimit by decide⟩
  have h₅ := h₄.step ⟨@Step.reread _ 1 .read false rfl, by simp, by simp, by simp⟩
  have h₆ := h₅.step ⟨@Step.granted _ 0 .delivered 1000000 rfl, inOrder_granted rfl⟩
  obtain ⟨trace, w, hlate, hcall, hrow⟩ := run_of_late
  refine ⟨⟨_, _, s₆, rfl, _, rfl, rfl, ?_, (receipts_move_forward h₆.of_guarded).2.1 h₆⟩, w, ?_⟩
  · exact (receipts_move_forward (.init sent_world)).1 _ _ s₆ _ _ rfl rfl
  · refine (receipts_move_forward hlate).2.2 0 .read 1000000 delivered hcall hrow rfl ?_
    intro hnot
    exact absurd (hnot rfl 2000000 rfl) (by decide)

end Sample

end Receipts

end Messaging

end SinoChat
