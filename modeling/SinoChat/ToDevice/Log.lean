import SinoChat.ToDevice.Spec
import Mathlib.Data.List.Range

/-!
# The log of queued events

What a run queued, device by device, is the list of its events numbered from
one without gap (`Counted`); the cursor of a device is the length of that
list, and the events still in the queue are a sublist of it. Everything a
later module says about sequences comes from this invariant.
-/

namespace SinoChat

open Js

variable {env : Deployment}

/-! ## The events of a run -/

/-- The events a step queued. -/
def queuedBy : Action → List MatrixToDeviceEvent
  | .sent _ enqueued => enqueued
  | _ => []

/-- The events a run queued, the oldest first. -/
def enqueued : List Action → List MatrixToDeviceEvent
  | [] => []
  | a :: trace => enqueued trace ++ queuedBy a

@[simp] theorem enqueued_nil : enqueued [] = [] := rfl

@[simp] theorem enqueued_cons (a : Action) (trace : List Action) :
    enqueued (a :: trace) = enqueued trace ++ queuedBy a := rfl

/-- A run only adds to the events of its beginning. -/
theorem enqueued_append (later earlier : List Action) :
    ∃ new, enqueued (later ++ earlier) = enqueued earlier ++ new := by
  induction later with
  | nil => exact ⟨[], by simp⟩
  | cons a later ih =>
    obtain ⟨new, hnew⟩ := ih
    exact ⟨new ++ queuedBy a, by rw [List.cons_append, enqueued_cons, hnew, List.append_assoc]⟩

/-- The events of one device, among some. -/
def eventsFor (deviceId : Uuid) (events : List MatrixToDeviceEvent) : List MatrixToDeviceEvent :=
  events.filter fun event => event.recipientDeviceId == deviceId

@[simp] theorem mem_eventsFor {deviceId : Uuid} {events : List MatrixToDeviceEvent}
    {event : MatrixToDeviceEvent} :
    event ∈ eventsFor deviceId events ↔ event ∈ events ∧ event.recipientDeviceId = deviceId := by
  simp [eventsFor]

@[simp] theorem eventsFor_append (deviceId : Uuid) (a b : List MatrixToDeviceEvent) :
    eventsFor deviceId (a ++ b) = eventsFor deviceId a ++ eventsFor deviceId b :=
  List.filter_append ..

/-! ## The numbering -/

/-- **Every device's events are numbered 1, 2, … up to its cursor.** -/
def Counted (latestSequence : Uuid → Option ℕ) (log : List MatrixToDeviceEvent) : Prop :=
  ∀ deviceId, (eventsFor deviceId log).map MatrixToDeviceEvent.recipientSequence =
    List.range' 1 ((latestSequence deviceId).getD 0)

/-- The event `enqueueTarget` adds. -/
def targetEvent (rowId : Uuid) (now : ℕ) (queue : Queue) (target : ResolvedTarget) :
    MatrixToDeviceEvent :=
  { transactionRowId := rowId, recipientUserId := target.userId,
    recipientDeviceId := target.deviceId,
    recipientSequence := (queue.latestSequence target.deviceId).getD 0 + 1,
    conversationId := target.conversationId, content := target.content.toJson,
    createdAt := now, expiresAt := now + toDeviceTtlMs }

/-- The counter stays the number of events. -/
theorem Counted.enqueueTarget {queue : Queue} {log : List MatrixToDeviceEvent}
    (h : Counted queue.latestSequence log) (rowId : Uuid) (now : ℕ) (target : ResolvedTarget) :
    Counted (queue.enqueueTarget rowId now target).latestSequence
      (log ++ [targetEvent rowId now queue target]) := by
  intro deviceId
  by_cases hd : deviceId = target.deviceId
  · subst hd
    simp only [eventsFor_append, List.map_append, h target.deviceId, Queue.enqueueTarget,
      Function.update_self, Option.getD_some]
    simp [eventsFor, targetEvent, List.range'_1_concat, Nat.add_comm 1]
  · have hne : target.deviceId ≠ deviceId := fun heq => hd heq.symm
    simp only [eventsFor_append, List.map_append, h deviceId, Queue.enqueueTarget,
      Function.update_of_ne hd]
    simp [eventsFor, targetEvent, hne]

/-- What queueing for some targets does to a queue. -/
structure Enqueues (rowId : Uuid) (now : ℕ) (targets : List ResolvedTarget) (before after : Queue)
    (new : List MatrixToDeviceEvent) : Prop where
  events : after.events = before.events ++ new
  transactions : after.transactions = before.transactions
  batches : after.batches = before.batches
  counted : ∀ log, Counted before.latestSequence log → Counted after.latestSequence (log ++ new)
  cursors : ∀ deviceId, (before.latestSequence deviceId).isSome →
    (after.latestSequence deviceId).isSome
  recipients : new.map MatrixToDeviceEvent.recipientDeviceId = targets.map ResolvedTarget.deviceId
  rows : ∀ event ∈ new, event.transactionRowId = rowId ∧ event.createdAt = now ∧
    event.expiresAt = now + toDeviceTtlMs

/-- Enqueuing targets one by one, by induction on them. -/
theorem enqueues_foldl (rowId : Uuid) (now : ℕ) (targets : List ResolvedTarget) (queue : Queue) :
    ∃ new, Enqueues rowId now targets queue
      (targets.foldl (Queue.enqueueTarget rowId now) queue) new := by
  induction targets generalizing queue with
  | nil =>
    exact ⟨[], { events := by simp, transactions := rfl, batches := rfl,
                 counted := by simp, cursors := fun _ h => h, recipients := rfl,
                 rows := by simp }⟩
  | cons target rest ih =>
    obtain ⟨new, hnew⟩ := ih (queue.enqueueTarget rowId now target)
    refine ⟨targetEvent rowId now queue target :: new, ?_⟩
    exact {
      events := by
        rw [List.foldl_cons, hnew.events]
        simp [Queue.enqueueTarget, targetEvent]
      transactions := hnew.transactions
      batches := hnew.batches
      counted := by
        intro log hlog
        have := hnew.counted _ (hlog.enqueueTarget rowId now target)
        simpa using this
      cursors := by
        intro deviceId hsome
        refine hnew.cursors deviceId ?_
        by_cases hd : deviceId = target.deviceId
        · subst hd
          simp [Queue.enqueueTarget]
        · simpa [Queue.enqueueTarget, Function.update_of_ne hd] using hsome
      recipients := by
        rw [List.map_cons, List.map_cons, hnew.recipients]
        rfl
      rows := by
        intro event hevent
        rcases List.mem_cons.mp hevent with rfl | hmem
        · exact ⟨rfl, rfl, rfl⟩
        · exact hnew.rows event hmem }

/-- The same, from the queue of a send. -/
theorem enqueues_afterSend (queue : Queue) (call : SendCall) (deviceId : Uuid)
    (request : MatrixToDeviceRequest) (hash : JsString) (targets : List ResolvedTarget) :
    ∃ new, Enqueues call.rowId call.now targets
      (queue.record ⟨call.rowId, deviceId, request.transactionId, request.eventType, hash, call.now⟩)
      (queue.afterSend call deviceId request hash targets) new :=
  enqueues_foldl ..

/-! ## What a step does to cursors and events -/

/-- **The four things a step does to the log**: nothing, queue events, drop
events, open a cursor. -/
inductive LogChange (before after : Queue) : List MatrixToDeviceEvent → Prop
  | same : after.latestSequence = before.latestSequence → after.events = before.events →
      LogChange before after []
  | queued {rowId : Uuid} {now : ℕ} {targets : List ResolvedTarget} {queue : Queue}
      {new : List MatrixToDeviceEvent} :
      queue.latestSequence = before.latestSequence → queue.events = before.events →
      Enqueues rowId now targets queue after new → LogChange before after new
  | dropped : after.latestSequence = before.latestSequence →
      (∃ keep : MatrixToDeviceEvent → Bool, after.events = before.events.filter keep) →
      LogChange before after []
  | opened {deviceId : Uuid} : before.latestSequence deviceId = none →
      after.latestSequence = Function.update before.latestSequence deviceId (some 0) →
      after.events = before.events → LogChange before after []

/-- A selection writes no event. -/
theorem Selected.logChange {crypto : Crypto} {db : Db} {call : SyncCall} {latest : ℕ} {id : Uuid}
    {selected : SelectedBatch} (h : Selected crypto db call latest id selected) :
    LogChange db.queue selected.queue [] := by
  cases h with
  | replay => exact .same rfl rfl
  | advance => exact .dropped rfl ⟨_, rfl⟩
  | reopen => exact .same rfl rfl
  | initial => exact .same rfl rfl

/-- An upload leaves the queue alone. -/
theorem uploadKeys_queue {crypto : Crypto} {principal : SessionPrincipal}
    {upload : MatrixKeyUpload} {db db' : Db} (h : uploadKeys crypto principal upload db = .ok db') :
    ∃ keys, db' = { db with keys } := by
  unfold uploadKeys at h
  obtain ⟨_, -, h⟩ := bind_eq_ok.mp h
  obtain ⟨_, -, h⟩ := bind_eq_ok.mp h
  obtain ⟨_, -, h⟩ := bind_eq_ok.mp h
  obtain ⟨_, -, h⟩ := bind_eq_ok.mp h
  obtain ⟨_, -, h⟩ := bind_eq_ok.mp h
  obtain ⟨keys, -, h⟩ := bind_eq_ok.mp h
  exact ⟨keys, (Except.ok.inj h).symm⟩

/-- So does a claim. -/
theorem runClaim_queue {db db' : Db} {deviceId : Uuid} {scope : ClaimScope} {parsed : ParsedClaim}
    {hash : JsString} {excluded : Option Uuid} {rowId : Uuid} {now : ℕ} {claimed : ClaimedKeys}
    (h : runClaim db deviceId scope parsed hash excluded rowId now = .ok (db', claimed)) :
    ∃ keys, db' = { db with keys } := by
  unfold runClaim at h
  split at h
  · obtain ⟨_, -, h⟩ := bind_eq_ok.mp h
    cases h
    exact ⟨db.keys, rfl⟩
  · cases h
    exact ⟨_, rfl⟩

/-- A claim touches the key tables only. -/
theorem KeyClaim.run_queue {claim : KeyClaim} {db db' : Db} {claimed : ClaimedKeys}
    (h : claim.run env db = .ok (db', claimed)) : ∃ keys, db' = { db with keys } := by
  cases claim with
  | ofConversation conversationId call =>
    simp only [KeyClaim.run, claimKeys] at h
    obtain ⟨_, -, h⟩ := bind_eq_ok.mp h
    obtain ⟨_, -, h⟩ := bind_eq_ok.mp h
    obtain ⟨_, -, h⟩ := bind_eq_ok.mp h
    obtain ⟨_, -, h⟩ := bind_eq_ok.mp h
    obtain ⟨_, -, h⟩ := bind_eq_ok.mp h
    obtain ⟨_, -, h⟩ := bind_eq_ok.mp h
    exact runClaim_queue h
  | related call =>
    simp only [KeyClaim.run, claimRelatedKeys] at h
    obtain ⟨_, -, h⟩ := bind_eq_ok.mp h
    obtain ⟨_, -, h⟩ := bind_eq_ok.mp h
    split at h
    · obtain ⟨_, -, h⟩ := bind_eq_ok.mp h
      obtain ⟨_, -, h⟩ := bind_eq_ok.mp h
      obtain ⟨_, -, h⟩ := bind_eq_ok.mp h
      exact runClaim_queue h
    · simp at h

/-- **Every step adds to the log what it says it queued.** -/
theorem ServiceStep.logChange {w w' : World} {a : Action} (h : ServiceStep env w a w') :
    LogChange w.db.queue w'.db.queue (queuedBy a) := by
  cases h with
  | @send call db' new hnow helig hfresh hsend hnew =>
    obtain ⟨deviceId, request, hash, -, ⟨-, rfl⟩ | ⟨targets, -, rfl⟩⟩ := send_cases hsend
    · have : new = [] := by simpa using hnew
      subst this
      exact .same rfl rfl
    · obtain ⟨added, hadded⟩ := enqueues_afterSend w.db.queue call deviceId request hash targets
      have : added = new := List.append_cancel_left (hadded.events.symm.trans hnew)
      subst this
      refine .queued ?_ ?_ hadded <;> rfl
  | sync hcall hid hnames hsync =>
    obtain ⟨latest, selected, hsynced⟩ := sync_eq_ok hsync
    rw [hsynced.after]
    exact hsynced.kind.logChange
  | upload hnodup hfresh hupload =>
    obtain ⟨keys, rfl⟩ := uploadKeys_queue hupload
    exact .same rfl rfl
  | claim hnow helig hfresh hclaim =>
    obtain ⟨keys, rfl⟩ := KeyClaim.run_queue hclaim
    exact .same rfl rfl
  | openCursor hnone => exact .opened hnone rfl rfl
  | purgeEvents hnow => exact .dropped rfl ⟨_, rfl⟩
  | sendFailed | syncBegin | syncFailed | uploadFailed | claimFailed | registerList | publish
  | changeAccounts | purgeBatches | tick => exact .same rfl rfl

/-! ## The invariant -/

/-- **The log invariant.** -/
structure LogInv (trace : List Action) (w : World) : Prop where
  counted : Counted w.db.queue.latestSequence (enqueued trace)
  live : w.db.queue.events.Sublist (enqueued trace)

/-- The log before the first call. -/
theorem LogInv.init {w : World} (h : Initial w) : LogInv [] w where
  counted := by
    intro deviceId
    simp [h.queue, eventsFor]
  live := by simp [h.queue]

/-- The log through a step. -/
theorem LogInv.step {trace : List Action} {w w' : World} {a : Action} (hinv : LogInv trace w)
    (h : ServiceStep env w a w') : LogInv (a :: trace) w' := by
  have hchange := h.logChange
  generalize hnew : queuedBy a = new at hchange
  have hlog : enqueued (a :: trace) = enqueued trace ++ new := by rw [enqueued_cons, hnew]
  cases hchange with
  | same hlatest hevents =>
    rw [List.append_nil] at hlog
    exact ⟨by rw [hlog, hlatest]; exact hinv.counted, by rw [hlog, hevents]; exact hinv.live⟩
  | queued hlatest hevents hqueued =>
    refine ⟨?_, ?_⟩
    · rw [hlog]
      exact hqueued.counted _ (by rw [hlatest]; exact hinv.counted)
    · rw [hlog, hqueued.events, hevents]
      exact hinv.live.append (List.Sublist.refl _)
  | dropped hlatest hevents =>
    rw [List.append_nil] at hlog
    obtain ⟨keep, hkeep⟩ := hevents
    refine ⟨by rw [hlog, hlatest]; exact hinv.counted, ?_⟩
    rw [hlog, hkeep]
    exact List.filter_sublist.trans hinv.live
  | @opened deviceId hnone hlatest hevents =>
    rw [List.append_nil] at hlog
    refine ⟨?_, by rw [hlog, hevents]; exact hinv.live⟩
    intro d
    rw [hlog, hinv.counted d, hlatest]
    by_cases hd : d = deviceId
    · subst hd
      simp [hnone]
    · rw [Function.update_of_ne hd]

/-- **The invariant holds in every run.** -/
theorem logInv {trace : List Action} {w : World} (h : (service env).Run trace w) :
    LogInv trace w :=
  h.invariant (fun _ => LogInv.init) fun _ _ _ _ _ hinv hstep => hinv.step hstep

namespace LogInv

variable {trace : List Action} {w : World}

/-- The sequences of a device's events increase along the log. -/
theorem sequences_lt (h : LogInv trace w) (deviceId : Uuid) :
    (eventsFor deviceId (enqueued trace)).Pairwise
      fun a b => a.recipientSequence < b.recipientSequence := by
  have hrange : (List.range' 1 ((w.db.queue.latestSequence deviceId).getD 0)).Pairwise (· < ·) :=
    List.pairwise_lt_range'
  rw [← h.counted deviceId] at hrange
  exact List.pairwise_map.mp hrange

/-- Queued events of one device with one sequence are one event. -/
theorem eq_of_sequence_eq (h : LogInv trace w) {a b : MatrixToDeviceEvent}
    (ha : a ∈ enqueued trace) (hb : b ∈ enqueued trace)
    (hdevice : a.recipientDeviceId = b.recipientDeviceId)
    (hsequence : a.recipientSequence = b.recipientSequence) : a = b := by
  have ha' : a ∈ eventsFor a.recipientDeviceId (enqueued trace) := mem_eventsFor.mpr ⟨ha, rfl⟩
  have hb' : b ∈ eventsFor a.recipientDeviceId (enqueued trace) :=
    mem_eventsFor.mpr ⟨hb, hdevice.symm⟩
  have hnodup : ((eventsFor a.recipientDeviceId (enqueued trace)).map
      MatrixToDeviceEvent.recipientSequence).Nodup := by
    rw [h.counted]
    exact List.nodup_range'
  exact List.inj_on_of_nodup_map hnodup ha' hb' hsequence

/-- A queued event lies at or below its device's cursor. -/
theorem sequence_bounds (h : LogInv trace w) {event : MatrixToDeviceEvent}
    (hevent : event ∈ enqueued trace) :
    0 < event.recipientSequence ∧
      event.recipientSequence ≤ (w.db.queue.latestSequence event.recipientDeviceId).getD 0 := by
  have hmem : event.recipientSequence ∈ (eventsFor event.recipientDeviceId (enqueued trace)).map
      MatrixToDeviceEvent.recipientSequence :=
    List.mem_map.mpr ⟨event, mem_eventsFor.mpr ⟨hevent, rfl⟩, rfl⟩
  rw [h.counted, List.mem_range'_1] at hmem
  omega

/-- Every event in the queue was enqueued. -/
theorem mem_enqueued (h : LogInv trace w) {event : MatrixToDeviceEvent}
    (hevent : event ∈ w.db.queue.events) : event ∈ enqueued trace :=
  h.live.subset hevent

/-- The waiting events of a device stand in the order of their sequences. -/
theorem pairwise_events (h : LogInv trace w) (deviceId : Uuid) :
    (eventsFor deviceId w.db.queue.events).Pairwise
      fun a b => a.recipientSequence < b.recipientSequence :=
  (h.sequences_lt deviceId).sublist (h.live.filter _)

end LogInv

end SinoChat
